import Strata.Proofs.Freshness

/-!
What sources answer. At every moment a key resolves to something if all layers are asked at once; a
source that fails counts as one without a value. Main statements: consulting layers while nothing
else happens gives that (`consult_eq_answered`); recorded snapshots give it as well if they are what
the sources answer (`answered_eq_recorded`); and what a new layer does not evict is still it
(`answered_insert`).
-/

namespace Strata

/-- The name and the source of a layer. -/
def Layer.nature (l : Layer) : String × SourceId := (l.name, l.source)

theorem Layer.exists_source {ls ls' : List Layer} {l : Layer}
    (h : ls'.map Layer.nature = ls.map Layer.nature) (hl : l ∈ ls) :
    ∃ l' ∈ ls', l'.source = l.source := by
  have hmem := List.mem_map_of_mem (f := Layer.nature) hl
  rw [← h] at hmem
  obtain ⟨l', hl', heq⟩ := List.mem_map.1 hmem
  exact ⟨l', hl', congrArg Prod.snd heq⟩

namespace Session

variable {s s' : Session} {n : SourceId} {key : String} {l : Layer} {ls ls' : List Layer}
  {r : RegistryId}

/-- The value that a source gives for a key. If it fails there is none. -/
def answer (s : Session) (n : SourceId) (key : String) : Option String :=
  (s.lookup n key).1.1.toOption.join

/-- What a key resolves to if layers are asked. -/
def answered (s : Session) (key : String) (ls : List Layer) : Option Resolved :=
  ls.findSome? fun l => (s.answer l.source key).map fun value => ⟨value, l.name⟩

/-- What a key of a registry resolves to if its layers are asked. -/
def liveResolution (s : Session) (r : RegistryId) (key : String) : Option Resolved :=
  if key.isEmpty then none else s.answered key (s.layersOf r)

/-- What a layer has recorded of a key is what its source answers. -/
def Tells (s : Session) (l : Layer) (key : String) : Prop :=
  s.answer l.source key = l.recorded.get? key

theorem answered_cons : s.answered key (l :: ls) =
    match s.answer l.source key with
    | some value => some ⟨value, l.name⟩
    | none => s.answered key ls := by
  rw [answered, List.findSome?_cons]
  cases s.answer l.source key <;> rfl

theorem answered_append : s.answered key (ls ++ ls') =
    (s.answered key ls).or (s.answered key ls') :=
  List.findSome?_append

theorem answered_congr (h : ∀ l ∈ ls, s'.answer l.source key = s.answer l.source key) :
    s'.answered key ls = s.answered key ls := by
  induction ls with
  | nil => rfl
  | cons l ls ih =>
    obtain ⟨hl, hls⟩ := List.forall_mem_cons.1 h
    rw [answered_cons, answered_cons, hl, ih hls]

/-- Nothing about layers matters but their names and sources. -/
theorem answered_of_map_eq (h : ls'.map Layer.nature = ls.map Layer.nature) :
    s.answered key ls' = s.answered key ls := by
  have hmap : ∀ ls : List Layer, s.answered key ls = (ls.map Layer.nature).findSome? fun x =>
      (s.answer x.2 key).map fun value => ⟨value, x.1⟩ := fun ls => by
    rw [List.findSome?_map]
    rfl
  rw [hmap, hmap, h]

theorem source_mem_of_answered {x : Resolved} (h : s.answered key ls = some x) :
    x.source ∈ ls.map (·.name) := by
  obtain ⟨l, hl, hx⟩ := List.exists_of_findSome?_eq_some h
  obtain ⟨value, -, rfl⟩ := Option.map_eq_some_iff.1 hx
  exact List.mem_map_of_mem hl

theorem answered_eq_recorded (h : ∀ l ∈ ls, s.Tells l key) :
    s.answered key ls = (View.recorded ls).resolve key := by
  induction ls with
  | nil => rfl
  | cons l ls ih =>
    obtain ⟨hl, hls⟩ := List.forall_mem_cons.1 h
    rw [answered_cons, hl, View.recorded_cons, View.resolve_cons]
    cases l.recorded.get? key with
    | none => exact ih hls
    | some value => rfl

/-- A source that has data answers from them. -/
theorem answer_of_contents (hs : s.IsPlain) {t : Snapshot} (h : s.contents n = some t) :
    s.answer n key = t.get? key := by
  rw [answer, lookup_of_contents hs.isBuiltin h]
  rfl

/-- An action on a registry is not one on sources. -/
theorem answer_setRegistry (reg : Registry) : (s.setRegistry r reg).answer n key = s.answer n key := by
  cases h : s.sources[n]? with
  | none =>
    rw [answer, answer, lookup_answer_of_none h, lookup_answer_of_none (s := s.setRegistry r reg) h]
  | some p => rw [answer, answer, lookup_answer h, lookup_answer (s := s.setRegistry r reg) h]; rfl

/-- A key that a layer has recorded resolves to something of that layer or of one before it. -/
theorem exists_resolve_append (pre post : List Layer) (hkey : key ∈ l.recorded.keys) :
    ∃ x : Resolved, (View.recorded (pre ++ l :: post)).resolve key = some x ∧
      x.source ∈ (pre ++ [l]).map (·.name) := by
  obtain ⟨value, hv⟩ := Option.ne_none_iff_exists'.1 (mt Table.get?_eq_none.1 (not_not_intro hkey))
  have hpre : (View.recorded (pre ++ [l])).resolve key ≠ none := by
    rw [View.recorded_append, View.recorded_cons, View.resolve, List.findSome?_append,
      List.findSome?_cons, hv]
    cases List.findSome? _ (View.recorded pre) <;> exact fun h => by cases h
  obtain ⟨x, hx⟩ := Option.ne_none_iff_exists'.1 hpre
  refine ⟨x, ?_, ?_⟩
  · rw [List.append_cons, View.recorded_append, View.resolve, List.findSome?_append]
    rw [View.resolve] at hx
    rw [hx, Option.some_or]
  · have hmem := View.source_mem_of_resolve hx
    rwa [View.map_fst_recorded] at hmem

/-- What is in the cache when a layer is put in is what the key resolves to with it, unless it is
evicted. -/
theorem answered_insert (hnames : ((Layer.insert l ls).map (·.name)).Nodup) (hl : s.Tells l key)
    (hspare : key ∈ l.recorded.keys →
      (View.recorded (Layer.insert l ls)).resolve key = s.answered key ls) :
    s.answered key (Layer.insert l ls) = s.answered key ls := by
  obtain ⟨pre, post, hls, hins⟩ := Layer.exists_insert l ls
  rw [hins] at hspare hnames ⊢
  rw [hls, answered_append] at hspare ⊢
  rw [answered_append, answered_cons, hl]
  by_cases hkey : key ∈ l.recorded.keys
  · cases hpre : s.answered key pre with
    | some x => rfl
    | none =>
      -- what was cached came from behind the new layer, and cannot have been spared
      obtain ⟨x, hx, hmem⟩ := exists_resolve_append pre post hkey
      rw [hspare hkey, hpre, Option.none_or] at hx
      rw [List.append_cons, List.map_append, List.nodup_append] at hnames
      exact absurd rfl (hnames.2.2 _ hmem _ (source_mem_of_answered hx))
  · rw [Table.get?_eq_none.2 hkey]

end Session

open Session in
/-- Consulting layers gives what their sources answer. -/
theorem RegistryId.consult_eq_answered {S : ScriptRun} {key : String} : ∀ {ls : List Layer}
    {s s' : Session} {x : Option Resolved × Bool}, s.IsPlain →
    Strata.Task.Ends S (consult key ls) s x s' → x.1 = s.answered key ls
  | [], _, _, _, _, h => by
    obtain ⟨rfl, rfl⟩ := Task.ends_done.1 h
    rfl
  | l :: ls, s, s', x, hs, h => by
    obtain ⟨a, s₁, hlook, hnext⟩ := Task.ends_bind.1 h
    obtain ⟨rfl, rfl⟩ := (ends_lookUp hs).1 hlook
    have hf := fetched_lookup s l.source key
    have hanswer : s.answer l.source key = (s.lookup l.source key).1.1.toOption.join := rfl
    have hrest : ∀ {s₂ : Session}, Fetched s s₂ → s₂.answered key ls = s.answered key ls :=
      fun hf => answered_congr fun l _ => by rw [answer, answer, hf.answer]
    rw [answered_cons, hanswer]
    rcases ha : (s.lookup l.source key).1.1 with e | _ | value
    · rw [ha] at hnext
      obtain ⟨u, s₂, hobs, hnext⟩ := Task.ends_bind.1 hnext
      cases Task.ends_act.1 hobs
      obtain ⟨y, s₃, hconsult, hlast⟩ := Task.ends_bind.1 hnext
      obtain ⟨rfl, rfl⟩ := Task.ends_done.1 hlast
      have he := fetched_emit (s.lookup l.source key).2 (.observed (.lookup l.name key) e)
      exact (consult_eq_answered (he.isPlain (hf.isPlain hs)) hconsult).trans (hrest (hf.trans he))
    · rw [ha] at hnext
      exact (consult_eq_answered (hf.isPlain hs) hnext).trans (hrest hf)
    · rw [ha] at hnext
      obtain ⟨rfl, rfl⟩ := Task.ends_done.1 hnext
      rfl

end Strata
