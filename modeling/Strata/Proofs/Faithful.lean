import Mathlib.Data.List.Nodup
import Strata.Proofs.Changing
import Strata.Proofs.Frames

/-!
Faithful sessions: the cache of the registry has what the layers hold. The sources are of the kinds
that keep their data to themselves: they change them only when they are asked for a snapshot or for
the first time. Main statements: a session stays faithful when a key is read (`IsFaithful.read`),
by a registration (`IsFaithful.registration`), whether or not the first snapshot is to be had, and
by a refresh (`IsFaithful.renewal`), whichever sources fail.
-/

namespace Strata

open Session RegistryId Strata.Task

/-! ### What layers hold before and after a change -/

namespace Session

variable {s s' : Session} {key : String} {x : Option Resolved}

/-- A new layer that has been asked leaves what the layers hold, if the view through the recorded
snapshots has it too. -/
theorem live_insert {l : Layer} {post : List Layer} (hl : s'.contents l.source = some l.recorded) :
    ∀ {pre : List Layer}, ((pre ++ l :: post).map (·.name)).Nodup →
      (∀ l' ∈ pre ++ post, s'.contents l'.source = s.contents l'.source) →
      s.live key (pre ++ post) = some x →
      (key ∈ l.recorded.keys → (View.recorded (pre ++ l :: post)).resolve key = x) →
      s'.live key (pre ++ l :: post) = some x
  | [], _, hsame, hx, hview => by
    rw [List.nil_append] at hx hview ⊢
    cases hv : l.recorded.get? key with
    | some value =>
      have hkey : key ∈ l.recorded.keys := by rw [Table.mem_keys, hv]; rfl
      have hview := hview hkey
      rw [View.recorded_cons, View.resolve_cons, hv] at hview
      simp only [live, hl, hv, ← hview]
    | none =>
      simp only [live, hl, hv]
      exact (live_congr hsame).trans hx
  | p :: pre, hnodup, hsame, hx, hview => by
    obtain ⟨hnot, hnodup⟩ := List.nodup_cons.1 hnodup
    have hsame' : ∀ l' ∈ pre ++ post, s'.contents l'.source = s.contents l'.source :=
      fun l' hl' => hsame l' (List.mem_cons_of_mem p hl')
    rw [List.cons_append] at hx ⊢
    cases ht : s.contents p.source with
    | none => simp [live, ht] at hx
    | some t =>
      have ht' : s'.contents p.source = some t := by rw [hsame p List.mem_cons_self, ht]
      cases hv : t.get? key with
      | some value => simpa only [live, ht, ht', hv] using hx
      | none =>
        simp only [live, ht, ht', hv] at hx ⊢
        refine live_insert hl hnodup hsame' hx fun hkey => ?_
        have hview := hview hkey
        rw [List.cons_append, View.recorded_cons, View.resolve_cons] at hview
        cases hp : p.recorded.get? key with
        | none => simpa only [hp] using hview
        | some value =>
          -- the value would come from `p`, but the layers hold it in another one
          rw [hp] at hview
          rw [← hview] at hx
          have hmem := source_mem_of_live hx
          refine absurd (?_ : p.name ∈ (pre ++ l :: post).map (·.name)) hnot
          rw [List.map_append, List.mem_append] at hmem ⊢
          exact hmem.imp_right (List.mem_cons_of_mem _)

/-- Layers that have recorded what their sources hold, or whose sources hold what they held, leave
what the layers hold, if the view through the recorded snapshots has it too. -/
theorem live_update {f : Layer → Layer} (hname : ∀ l, (f l).name = l.name)
    (hsource : ∀ l, (f l).source = l.source) :
    ∀ {ls : List Layer}, (ls.map (·.name)).Nodup →
      (∀ l ∈ ls, s'.contents l.source = some (f l).recorded ∨
        s'.contents l.source = s.contents l.source) →
      s.live key ls = some x → (View.recorded (ls.map f)).resolve key = x →
      s'.live key (ls.map f) = some x
  | [], _, _, hx, _ => hx
  | l :: ls, hnodup, hl, hx, hview => by
    obtain ⟨hnot, hnodup⟩ := List.nodup_cons.1 hnodup
    have hrest := live_update hname hsource hnodup fun l' hl' => hl l' (List.mem_cons_of_mem l hl')
    have hfst : (View.recorded (ls.map f)).map (·.1) = ls.map (·.name) := by
      rw [View.map_fst_recorded, List.map_map]
      exact List.map_congr_left fun l' _ => hname l'
    rw [List.map_cons, View.recorded_cons, View.resolve_cons, hname] at hview
    cases ht : s.contents l.source with
    | none => simp [live, ht] at hx
    | some t =>
      simp only [live, ht] at hx
      rw [List.map_cons]
      rcases hl l List.mem_cons_self with hnew | hold
      · simp only [live, hsource, hname, hnew]
        cases hv : (f l).recorded.get? key with
        | some value =>
          rw [hv] at hview
          exact congrArg some hview
        | none =>
          rw [hv] at hview
          cases hv' : t.get? key with
          | none =>
            rw [hv'] at hx
            exact hrest hx hview
          | some value =>
            -- the layer held the value, but the view has it from another one
            rw [hv'] at hx
            cases hx
            have hmem := View.source_mem_of_resolve hview
            rw [hfst] at hmem
            exact absurd hmem hnot
      · simp only [live, hsource, hname, hold, ht]
        cases hv : t.get? key with
        | some value =>
          rw [hv] at hx
          exact hx
        | none =>
          rw [hv] at hx
          cases hv' : (f l).recorded.get? key with
          | none =>
            rw [hv'] at hview
            exact hrest hx hview
          | some value =>
            rw [hv'] at hview
            rw [← hview] at hx
            exact absurd (source_mem_of_live hx) hnot

end Session

/-! ### Calm commands -/

/-- Whether the source of an order keeps its data to itself. -/
def SourceOrder.isSelfContained {γ : Type} : SourceOrder γ → Bool
  | .map _ | .environment .. | .file _ | .remote .. => true
  | .system _ | .declared _ | .scripted .. => false

/-- Commands that change data only by registration and refresh, or by fetching what was not there.
What a listener does when it is called is calm, too. -/
inductive Command.IsCalm : Command → Prop
  | deed {d : Deed Command} : d.isQuiet = true → IsCalm (.deed d)
  | subscribe (id key : String) {reaction : List Command} :
    (∀ c ∈ reaction, IsCalm c) → IsCalm (.deed (.subscribe id key reaction))
  | follow (id : String) : IsCalm (.deed (.follow id))
  | make (id : String) {order : SourceOrder Command} (priority : Option Int) :
    order.isSelfContained = true → IsCalm (.make id order priority)
  | lookup (id key : String) : IsCalm (.lookup id key)
  | register (id : String) (priority : Int) : IsCalm (.register id priority)
  | resolve (key : String) : IsCalm (.resolve key)
  | resolveRequired (key : String) : IsCalm (.resolveRequired key)
  | getText (key : String) : IsCalm (.getText key)
  | get (key : String) (kind : Kind) : IsCalm (.get key kind)
  | invalidate (key : Option String) : IsCalm (.invalidate key)
  | refresh : IsCalm .refresh
  | handle (id : String) (query : HandleQuery) : IsCalm (.handle id query)
  | readGroup (ids : List String) : IsCalm (.readGroup ids)
  | renderGroup (ids : List String) (template : String) : IsCalm (.renderGroup ids template)
  | await (key : String) (value : Option String) : IsCalm (.await key value)
  | awaitStop (id : String) : IsCalm (.awaitStop id)
  | awaitEvents (count : Nat) : IsCalm (.awaitEvents count)

/-- All commands of a script are calm. -/
def Script.IsCalm (script : Script) : Prop := ∀ c ∈ script.commands, c.IsCalm

/-- A listener that does calm things when it is called. -/
def Listener.IsCalm : Listener → Prop
  | .script s => s.IsCalm
  | .follower .. => True

/-! ### What is always so between operations -/

/-- A registry that is not at work, whose layers have names and numbers of their own, and whose
cache has what the layers hold. -/
structure Registry.Mirrors (reg : Registry) (s : Session) : Prop where
  isFree : reg.isLocked = false
  names : (reg.layers.map (·.name)).Nodup
  seqs : (reg.layers.map (·.seq)).Nodup
  seq_lt : ∀ l ∈ reg.layers, l.seq < reg.nextSeq
  source : ∀ l ∈ reg.layers, ∃ p, s.sources[l.source]? = some p ∧ p.name = l.name
  entry : ∀ key e, reg.cache.entries.get? key = some e → s.live key reg.layers = some e.resolved

/-- A session with one registry that mirrors the sources, all of which keep their data to
themselves, and with calm listeners. -/
structure Session.IsFaithful (s : Session) : Prop where
  source : ∀ p ∈ s.sources, p.isSelfContained = true
  listener : ∀ l ∈ s.listeners, l.IsCalm
  current : s.current = 0
  registry : ∃ reg, s.registries = [reg] ∧ reg.Mirrors s

namespace Session

variable {s s' : Session} {n : SourceId} {key : String} {r : RegistryId}

theorem IsFaithful.isPlain (h : s.IsFaithful) : s.IsPlain :=
  fun p hp => Provider.isBuiltin_of_isSelfContained (h.source p hp)

theorem IsFaithful.exists_mirrors {reg : Registry} (h : s.IsFaithful)
    (hreg : s.registries[r]? = some reg) : r = 0 ∧ s.registries = [reg] ∧ reg.Mirrors s := by
  obtain ⟨reg', hone, hm⟩ := h.registry
  rw [hone] at hreg
  cases r with
  | zero =>
    cases hreg
    exact ⟨rfl, hone, hm⟩
  | succ r => simp at hreg

/-- What a source keeps to itself does not depend on the host. -/
theorem contents_eq_of_sources (h : ∀ p ∈ s.sources, p.isSelfContained = true)
    (hsources : s'.sources[n]? = s.sources[n]?) : s'.contents n = s.contents n := by
  rw [contents, contents, hsources]
  cases hp : s.sources[n]? with
  | none => rfl
  | some p =>
    have hself := h p (List.mem_of_getElem? hp)
    cases p with
    | builtin p => cases p <;> first | rfl | simp [Provider.isSelfContained] at hself
    | scripted p => rfl

theorem SameButData.isSelfContained (h : SameButData s s')
    (hs : ∀ p ∈ s.sources, p.isSelfContained = true) :
    ∀ p ∈ s'.sources, p.isSelfContained = true := by
  intro p hp
  obtain ⟨n, hn⟩ := List.getElem?_of_mem hp
  obtain ⟨q, hq, hqp⟩ := h.exists_nature hn
  have hself := hs q (List.mem_of_getElem? hq)
  exact (congrArg Provider.Nature.isSelfContained hqp).symm.trans hself

/-- A session in which the host, the handles and the like have changed is as faithful as before,
also if it has more sources and more calm listeners. -/
theorem IsFaithful.congr (h : s.IsFaithful) (hregistries : s'.registries = s.registries)
    (hcurrent : s'.current = s.current)
    (hsource : ∀ p ∈ s'.sources, p.isSelfContained = true)
    (hsources : ∀ (n : SourceId) (p : Provider), s.sources[n]? = some p →
      s'.sources[n]? = some p)
    (hlistener : ∀ l ∈ s'.listeners, l.IsCalm) : s'.IsFaithful := by
  obtain ⟨reg, hreg, hm⟩ := h.registry
  refine ⟨hsource, hlistener, hcurrent.trans h.current, reg, hregistries.trans hreg,
    ⟨hm.isFree, hm.names, hm.seqs, hm.seq_lt, fun l hl => ?_, fun key e he => ?_⟩⟩
  · obtain ⟨p, hp, hname⟩ := hm.source l hl
    exact ⟨p, hsources _ p hp, hname⟩
  · rw [live_congr fun l hl => ?_]
    · exact hm.entry key e he
    · obtain ⟨p, hp, -⟩ := hm.source l hl
      exact contents_eq_of_sources h.source (by rw [hsources _ p hp, hp])

theorem IsFaithful.of_same (h : s.IsFaithful) (hregistries : s'.registries = s.registries)
    (hcurrent : s'.current = s.current) (hsources : s'.sources = s.sources)
    (hlisteners : s'.listeners = s.listeners) : s'.IsFaithful :=
  h.congr hregistries hcurrent (hsources ▸ h.source) (fun n p hp => by rw [hsources, hp])
    (hlisteners ▸ h.listener)

theorem IsFaithful.fetched (h : s.IsFaithful) (hf : Fetched s s') : s'.IsFaithful := by
  obtain ⟨reg, hreg, hm⟩ := h.registry
  refine ⟨hf.isSelfContained h.source, by rw [hf.listeners]; exact h.listener,
    by rw [hf.eq]; exact h.current, reg, hf.registries.trans hreg,
    ⟨hm.isFree, hm.names, hm.seqs, hm.seq_lt, fun l hl => ?_, fun key e he => ?_⟩⟩
  · obtain ⟨p, hp, hname⟩ := hm.source l hl
    obtain ⟨q, hq, hqp⟩ := hf.exists_source hp
    exact ⟨q, hq, (congrArg Provider.Nature.name hqp).trans hname⟩
  · exact hf.live (hm.entry key e he)

/-! ### Operations on the registry -/

variable {S : ScriptRun} {reg reg' : Registry} {s₁ : Session}

theorem live_setRegistry {ls : List Layer} :
    (s.setRegistry r reg).live key ls = s.live key ls :=
  live_congr fun _ _ => rfl

theorem IsFaithful.setRegistry (h : s.IsFaithful) (hreg : s.registries = [reg])
    (hm : reg'.Mirrors s) : (s.setRegistry 0 reg').IsFaithful := by
  refine ⟨h.source, h.listener, h.current, reg', ?_,
    ⟨hm.isFree, hm.names, hm.seqs, hm.seq_lt, hm.source, fun key e he => ?_⟩⟩
  · rw [Session.setRegistry, hreg]
    rfl
  · rw [live_setRegistry]
    exact hm.entry key e he

/-- An operation that has changed nothing but data ends in a faithful session if the registry
mirrors the data. -/
theorem IsFaithful.setRegistry_of_sameButData (h : s.IsFaithful)
    (hdata : SameButData (s.setRegistry 0 reg) s₁) (hm : reg'.Mirrors s₁) :
    (s₁.setRegistry 0 reg').IsFaithful := by
  obtain ⟨reg₀, hone, -⟩ := h.registry
  have hone₁ : s₁.registries = [reg] := by
    rw [hdata.registries, Session.setRegistry, hone]
    rfl
  refine ⟨hdata.isSelfContained h.source, ?_, ?_, reg', ?_,
    ⟨hm.isFree, hm.names, hm.seqs, hm.seq_lt, hm.source, fun key e he => ?_⟩⟩
  · change ∀ l ∈ s₁.listeners, l.IsCalm
    rw [hdata.listeners]
    exact h.listener
  · change s₁.current = 0
    rw [hdata.eq]
    exact h.current
  · rw [Session.setRegistry, hone₁]
    rfl
  · rw [live_setRegistry]
    exact hm.entry key e he

theorem IsFaithful.consult (h : s.IsFaithful) {ls : List Layer} {x : Option Resolved × Bool}
    (hrun : Ends S (RegistryId.consult key ls) s x s') : s'.IsFaithful :=
  h.fetched (consult_spec h.isPlain hrun).1

/-- What is put into the cache is what the layers hold. -/
theorem IsFaithful.read (h : s.IsFaithful) {x : Reading} (hrun : Ends S (r.read key) s x s') :
    s'.IsFaithful := by
  rcases read_spec h.isPlain hrun with ⟨-, -, rfl⟩ | ⟨reg, hreg, ⟨e, -, -, rfl⟩ |
    ⟨-, y, s₁, hconsult, -, rfl⟩⟩
  · exact h
  · exact h
  · have h₁ := h.consult hconsult
    obtain ⟨hf, hlive⟩ := consult_spec h.isPlain hconsult
    cases hy : y.2 with
    | true => exact h₁
    | false =>
      obtain ⟨rfl, -, -⟩ := h.exists_mirrors hreg
      obtain ⟨-, hone, hm⟩ := h₁.exists_mirrors (r := 0) (by rw [hf.registries, hreg])
      refine h₁.setRegistry hone ⟨hm.isFree, hm.names, hm.seqs, hm.seq_lt, hm.source, ?_⟩
      intro key' e he
      rcases Cache.get?_fill he with hold | ⟨rfl, hx, -, -⟩
      · exact hm.entry key' e hold
      · rw [hx]
        exact hlive hy

theorem SameButData.source_mirrors (hdata : SameButData s s₁) {l : Layer}
    (h : ∃ p, s.sources[l.source]? = some p ∧ p.name = l.name) :
    ∃ p, s₁.sources[l.source]? = some p ∧ p.name = l.name := by
  obtain ⟨p, hp, hname⟩ := h
  obtain ⟨q, hq, hqp⟩ := hdata.exists_source hp
  exact ⟨q, hq, (congrArg Provider.Nature.name hqp).trans hname⟩

/-- After a registration the cache has what the layers hold, the new one among them. -/
theorem IsFaithful.registration (h : s.IsFaithful) {p : Provider} (hp : s.sources[n]? = some p)
    {priority : Int} {x : Except Failure (List Change)}
    (hrun : Ends S (r.registration n priority) s x s') : s'.IsFaithful := by
  obtain ⟨reg, hreg, hfree, ⟨e, event, -, rfl⟩ | ⟨t, s₁, l, hl, hnew, hasked, rfl, -⟩⟩ :=
    registration_spec h.isPlain hrun
  · exact h.of_same rfl rfl rfl rfl
  obtain ⟨rfl, hone, hm⟩ := h.exists_mirrors hreg
  have hlname : l.name = p.name := by rw [hl]; simp [described, hp]
  have hlsource : l.source = n := by rw [hl]
  have hlseq : l.seq = reg.nextSeq := by rw [hl]
  have hperm := Layer.insert_perm l reg.layers
  have hother : ∀ l' ∈ reg.layers, s₁.contents l'.source = s.contents l'.source := by
    intro l' hl'
    refine hasked.contents_of_ne _ fun heq => hnew l' hl' ?_
    obtain ⟨q, hq, hname⟩ := hm.source l' hl'
    rw [heq, hp, Option.some.injEq] at hq
    rw [hlname, hq, hname]
  have hnames : ((Layer.insert l reg.layers).map (·.name)).Nodup := by
    rw [(hperm.map _).nodup_iff]
    refine List.nodup_cons.2 ⟨fun hmem => ?_, hm.names⟩
    obtain ⟨l', hl', heq⟩ := List.mem_map.1 hmem
    exact hnew l' hl' heq
  refine h.setRegistry_of_sameButData hasked.toSameButData ⟨hfree, hnames, ?_, ?_, ?_, ?_⟩
  · change ((Layer.insert l reg.layers).map (·.seq)).Nodup
    rw [(hperm.map _).nodup_iff]
    refine List.nodup_cons.2 ⟨fun hmem => ?_, hm.seqs⟩
    obtain ⟨l', hl', heq⟩ := List.mem_map.1 hmem
    have hlt := hm.seq_lt l' hl'
    rw [show l'.seq = l.seq from heq, hlseq] at hlt
    exact Nat.lt_irrefl _ hlt
  · intro l' hl'
    change l'.seq < reg.nextSeq + 1
    rcases Layer.mem_insert.1 hl' with rfl | hl'
    · omega
    · have hlt := hm.seq_lt l' hl'
      omega
  · intro l' hl'
    rcases Layer.mem_insert.1 hl' with rfl | hl'
    · exact hasked.source_mirrors ⟨p, by rw [hlsource]; exact hp, hlname.symm⟩
    · exact hasked.source_mirrors (hm.source l' hl')
  · intro key e he
    cases t with
    | none =>
      have hnone : (evictedBy reg.cache l.recorded.keys
          (View.recorded (Layer.insert l reg.layers)) false).entries.get? key = none :=
        Cache.get?_invalidate_none
      exact absurd (hnone.symm.trans he) (by simp)
    | some t =>
      obtain ⟨hold, hview⟩ := get?_evictedBy.1 he
      obtain ⟨pre, post, hls, hins⟩ := Layer.exists_insert l reg.layers
      have hlive := hm.entry key e hold
      change s₁.live key (Layer.insert l reg.layers) = some e.resolved
      rw [hins] at hnames hview ⊢
      rw [hls] at hlive
      refine live_insert ?_ hnames (fun l' hl' => hother l' (hls ▸ hl')) hlive hview
      rw [hlsource, hasked.contents_self, hl]
      rfl

/-- Layers with different names have different sources. -/
theorem sources_nodup (hm : reg.Mirrors s) :
    (reg.layers.map (·.source)).Nodup := by
  refine List.Nodup.of_map (fun n => (described s n).1) ?_
  rw [List.map_map, List.map_congr_left (g := (·.name))]
  · exact hm.names
  · intro l hl
    obtain ⟨p, hp, hname⟩ := hm.source l hl
    simp [described, hp, hname]

/-- After a refresh the cache has what the layers hold. -/
theorem IsFaithful.renewal (h : s.IsFaithful) {x : RefreshReport × List Change}
    (hrun : Ends S r.renewal s x s') : s'.IsFaithful := by
  obtain ⟨reg, taken, s₁, hreg, hfree, htaken, rfl, -⟩ := renewal_spec h.isPlain hrun
  obtain ⟨rfl, hone, hm⟩ := h.exists_mirrors hreg
  have hplain : (s.setRegistry 0 (busy reg)).IsPlain := h.isPlain
  have hdata := sameButData_takeSnapshots hplain htaken
  have hmap := map_takeSnapshots htaken
  have htakenSeqs := nodup_seq_taken hmap hm.seqs
  have hcontents : ∀ l ∈ reg.layers, s₁.contents l.source = some (updated taken l).recorded ∨
      s₁.contents l.source = s.contents l.source := by
    intro l hl
    by_cases hmut : l.isMutable = true
    · have hmem : l ∈ taken.map (·.1) := by
        rw [hmap]
        exact List.mem_filter.2 ⟨hl, hmut⟩
      obtain ⟨⟨l', t⟩, ht, rfl⟩ := List.mem_map.1 hmem
      have hc := contents_takeSnapshots hplain (sources_nodup hm) htaken _ ht
      cases t with
      | some t =>
        left
        rw [recorded_updated ht htakenSeqs]
        exact hc
      | none => exact .inr hc
    · right
      have hother := contents_takeSnapshots_of_ne (n := l.source) hplain htaken
      refine hother fun l' hl' hmut' heq => hmut ?_
      rw [← List.inj_on_of_nodup_map (sources_nodup hm) hl' hl heq]
      exact hmut'
  refine h.setRegistry_of_sameButData hdata ⟨hfree, ?_, ?_, ?_, ?_, ?_⟩
  · change ((recordAll taken reg.layers).map (·.name)).Nodup
    rw [map_recordAll fun _ => updated_name]
    exact hm.names
  · change ((recordAll taken reg.layers).map (·.seq)).Nodup
    rw [map_recordAll fun _ => updated_seq]
    exact hm.seqs
  · intro l hl
    obtain ⟨l', hl', rfl⟩ := mem_recordAll.1 hl
    rw [updated_seq]
    exact hm.seq_lt l' hl'
  · intro l hl
    obtain ⟨l', hl', rfl⟩ := mem_recordAll.1 hl
    rw [updated_source, updated_name]
    exact hdata.source_mirrors (hm.source l' hl')
  · intro key e he
    obtain ⟨hold, hview⟩ := Cache.get?_evictStale.1 he
    change s₁.live key (recordAll taken reg.layers) = some e.resolved
    rw [recordAll_eq_map] at hview ⊢
    exact live_update (fun l => updated_name) (fun l => updated_source) hm.names hcontents
      (hm.entry key e hold) hview.symm

end Session

end Strata
