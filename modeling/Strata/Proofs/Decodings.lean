import Strata.Proofs.Headway

/-!
When handles decode. A handle that reads its key decodes what it has read, unless it keeps what it
has decoded from the same generation before; a failure to decode is observed right away. So every
decoding belongs to a read of its own (`HandleReads`), the generations from which a handle decodes
rise (`Tally`), and the failures to decode that are observed are those of the decodings. What is
delivered to a listener is decoded for that listener, not for a read, and not observed.

Main statement: `decodings_of_script`.
-/

namespace Strata

open Machine RegistryId Session Strata.Task

/-- A text that a handle decodes, and the generation that it was read with, if there was one. -/
structure Decoding where
  binding : Binding
  raw : String
  generation : Option Nat

/-- The failure that a decoding ends in, as it is told for the key of the handle. -/
def Decoding.failure? (x : Decoding) : Option (String × Failure) :=
  match x.binding.converter.decode x.raw with
  | .ok _ => none
  | .error e => some (x.binding.key, e)

namespace Machine

/-- What handles decode, the last one first. -/
def decodings (ms : List Moment) : List Decoding :=
  ms.filterMap fun m => match m.step with
    | .act (.decode b raw g) => some ⟨b, raw, g⟩
    | _ => none

/-- The failures to decode that are observed, the last one first. -/
def reports (ms : List Moment) : List (String × Failure) :=
  ms.filterMap fun m => match m.step with
    | .act (.observe (.conversion key) e) => some (key, e)
    | _ => none

/-- The generations from which a handle decodes, the last one first. -/
def generations (n : HandleId) (ms : List Moment) : List Nat :=
  (decodings ms).filterMap fun x => if x.binding.number = n then x.generation else none

theorem decodings_append (ms ms' : List Moment) :
    decodings (ms ++ ms') = decodings ms ++ decodings ms' :=
  List.filterMap_append

theorem reports_append (ms ms' : List Moment) : reports (ms ++ ms') = reports ms ++ reports ms' :=
  List.filterMap_append

theorem generations_append (n : HandleId) (ms ms' : List Moment) :
    generations n (ms ++ ms') = generations n ms ++ generations n ms' := by
  rw [generations, decodings_append, List.filterMap_append]
  rfl

end Machine

/-! ### Reads -/

/-- What a handle does with what it has read. -/
def Binding.finish (b : Binding) (x : Reading) : Task Decoded :=
  (b.kept x.generation).bind fun
    | some d => .done d
    | none => (b.decode x).bind fun d => (b.remember d x.generation).bind fun _ => .done d

theorem Binding.read_eq (b : Binding) : b.read = (b.registry.read b.key).bind b.finish := rfl

theorem Binding.finish_of_none {b : Binding} {x : Reading} (hx : x.generation = none) :
    b.finish x = b.decode x := by
  rw [finish, hx]
  exact Program.bind_done _

/-- What a handle has read, and whether it has decoded that. -/
structure HandleRead where
  binding : Binding
  reading : Reading
  isDecoded : Bool

/-- What is decoded for a read. -/
def HandleRead.decoding? (x : HandleRead) : Option Decoding :=
  if x.isDecoded then x.reading.resolved.map fun y => ⟨x.binding, y.value, x.reading.generation⟩
  else none

/-- Reads of handles in the course of a run, the last one first; where nothing is decoded they may
be left out. While a key is being read there may be other reads. -/
inductive HandleReads : List Moment → List HandleRead → Prop where
  | quiet {ms : List Moment} : decodings ms = [] → HandleReads ms []
  | read {k : Nat} {b : Binding} {x : Reading} {d : Decoded} {s s₁ s' : Session}
    {ms ms' : List Moment} {rs : List HandleRead} :
    Runs (ScriptRuns k) (b.registry.read b.key) s ms x s₁ →
    Runs (ScriptRuns k) (b.finish x) s₁ ms' d s' → HandleReads ms rs →
    HandleReads (ms' ++ ms) (⟨b, x, !(decodings ms').isEmpty⟩ :: rs)
  | append {ms ms' : List Moment} {rs rs' : List HandleRead} :
    HandleReads ms rs → HandleReads ms' rs' → HandleReads (ms' ++ ms) (rs' ++ rs)

/-! ### Tallies -/

/-- In a part of a run the generations from which a handle decodes rise, from those that are past
before to those that are past afterwards, and exactly the decodings that fail are told. -/
structure Tally (s : Session) (ms : List Moment) (s' : Session) : Prop where
  abreast : s'.Abreast
  knows : ∀ b, s.Knows b → s'.Knows b
  next_le : ∀ n, s.nextOf n ≤ s'.nextOf n
  rising : ∀ n, (generations n ms).Pairwise (· > ·)
  between : ∀ n, ∀ g ∈ generations n ms, s.nextOf n ≤ g ∧ g < s'.nextOf n
  told : reports ms = (decodings ms).filterMap Decoding.failure?

/-- The decodings in a part of a run are tallied, and each of them belongs to a read. -/
def Reckoned (s : Session) (ms : List Moment) (s' : Session) : Prop :=
  Tally s ms s' ∧ ∃ rs, HandleReads ms rs ∧ decodings ms = rs.filterMap HandleRead.decoding?

variable {α : Type} {S : ScriptRun} {s s₁ s' : Session} {ms ms' : List Moment} {b : Binding}
  {x : Reading} {d : Decoded} {k : Nat}

theorem Tally.trans (h : Tally s ms s₁) (h' : Tally s₁ ms' s') : Tally s (ms' ++ ms) s' := by
  refine ⟨h'.abreast, fun b hb => h'.knows b (h.knows b hb),
    fun n => (h.next_le n).trans (h'.next_le n), fun n => ?_, fun n g hg => ?_, ?_⟩
  · rw [generations_append, List.pairwise_append]
    exact ⟨h'.rising n, h.rising n, fun g hg g' hg' =>
      Nat.lt_of_lt_of_le (h.between n g' hg').2 (h'.between n g hg).1⟩
  · rw [generations_append, List.mem_append] at hg
    rcases hg with hg | hg
    · exact ⟨(h.next_le n).trans (h'.between n g hg).1, (h'.between n g hg).2⟩
    · exact ⟨(h.between n g hg).1, Nat.lt_of_lt_of_le (h.between n g hg).2 (h'.next_le n)⟩
  · rw [reports_append, decodings_append, List.filterMap_append, h.told, h'.told]

/-- No handle decodes anything from a generation. -/
theorem Tally.of_advances (hs : s.Abreast) (ha : Advances s s') (hms : ∀ n, generations n ms = [])
    (htold : reports ms = (decodings ms).filterMap Decoding.failure?) : Tally s ms s' := by
  refine ⟨hs.advance ha, fun b hb => ha.knows hb, fun n => (ha.nextOf_eq n).ge, fun n => ?_,
    fun n g hg => ?_, htold⟩
  · rw [hms]
    exact .nil
  · rw [hms] at hg
    exact absurd hg List.not_mem_nil

/-- Nothing is decoded. -/
theorem Reckoned.of_advances (hs : s.Abreast) (ha : Advances s s') (hms : decodings ms = [])
    (hquiet : reports ms = []) : Reckoned s ms s' := by
  refine ⟨.of_advances hs ha (fun n => ?_) (by rw [hquiet, hms]; rfl), [], .quiet hms, hms⟩
  rw [generations, hms]
  rfl

theorem Reckoned.trans (h : Reckoned s ms s₁) (h' : Reckoned s₁ ms' s') :
    Reckoned s (ms' ++ ms) s' := by
  obtain ⟨htally, rs, hreads, hdecodings⟩ := h
  obtain ⟨htally', rs', hreads', hdecodings'⟩ := h'
  refine ⟨htally.trans htally', rs' ++ rs, hreads.append hreads', ?_⟩
  rw [decodings_append, List.filterMap_append, hdecodings, hdecodings']

theorem composable_reckoned : Composable fun s ms s' => s.Abreast → Reckoned s ms s' := by
  have hrefl : ∀ s, Advances s s := fun s => .of_same rfl fun _ => rfl
  exact ⟨fun s hs => .of_advances hs (hrefl s) rfl rfl,
    fun _ s hs => .of_advances hs (hrefl s) rfl rfl,
    fun h h' hs => (h hs).trans (h' (h hs).1.abreast)⟩

/-! ### Decoding -/

/-- What was read is decoded, if it is something, and a failure is told. -/
theorem runs_decode (h : Runs S (b.decode x) s ms d s') :
    Advances s s' ∧ s'.registries = s.registries ∧
    decodings ms = (x.resolved.map fun y => ⟨b, y.value, x.generation⟩).toList ∧
    reports ms = (decodings ms).filterMap Decoding.failure? := by
  rw [Binding.decode] at h
  cases hresolved : x.resolved with
  | none =>
    rw [hresolved] at h
    obtain ⟨rfl, rfl, rfl⟩ := runs_done.1 h
    exact ⟨.of_same rfl fun _ => rfl, rfl, rfl, rfl⟩
  | some y =>
    rw [hresolved] at h
    obtain ⟨z, s₁, ms₁, ms₂, hdecode, hrest, rfl⟩ := runs_bind.1 h
    obtain ⟨htake, rfl⟩ := runs_act.1 hdecode
    cases htake
    cases hz : b.converter.decode y.value with
    | ok v =>
      rw [hz] at hrest
      obtain ⟨rfl, rfl, rfl⟩ := runs_done.1 hrest
      exact ⟨.of_same rfl fun _ => rfl, rfl, rfl,
        by simp [reports, decodings, Decoding.failure?, hz]⟩
    | error e =>
      rw [hz] at hrest
      obtain ⟨u, s₂, ms₃, ms₄, hobserve, hdone, rfl⟩ := runs_bind.1 hrest
      obtain ⟨htake, rfl⟩ := runs_act.1 hobserve
      cases htake
      obtain ⟨rfl, rfl, rfl⟩ := runs_done.1 hdone
      exact ⟨.of_same rfl fun _ => rfl, rfl, rfl,
        by simp [reports, decodings, Decoding.failure?, hz]⟩

/-- What was read without a generation is decoded from none. -/
theorem generations_eq_nil (n : HandleId)
    (hms : decodings ms = (x.resolved.map fun y => ⟨b, y.value, none⟩).toList) :
    generations n ms = [] := by
  rw [generations, hms]
  cases x.resolved with
  | none => rfl
  | some y => simp

/-- What was read with a generation is decoded from that one. -/
theorem generations_cases {g : Nat} (n : HandleId)
    (hms : decodings ms = (x.resolved.map fun y => ⟨b, y.value, some g⟩).toList) :
    generations n ms = [] ∨ b.number = n ∧ generations n ms = [g] := by
  rw [generations, hms]
  cases x.resolved with
  | none => exact .inl rfl
  | some y =>
    by_cases hn : b.number = n
    · exact .inr ⟨hn, by simp [hn]⟩
    · exact .inl (by simp [hn])

/-- A handle keeps what it has decoded from the entry that stands in the cache, which is later than
what it has kept before. -/
theorem tally_keep {e : CacheEntry} (hs : s.Abreast) (hb : s.Knows b)
    (he : (s.registryAt b.registry).cache.entries.get? b.key = some e)
    (hnew : s.nextOf b.number ≤ e.generation)
    (hms : ∀ n, generations n ms = [] ∨ b.number = n ∧ generations n ms = [e.generation])
    (htold : reports ms = (decodings ms).filterMap Decoding.failure?) :
    Tally s ms (s.keep b.number e.generation d) := by
  obtain ⟨h, hn, hbinding⟩ := hb
  have hself : (s.keep b.number e.generation d).nextOf b.number = e.generation + 1 := by
    rw [nextOf_keep_self hn]
    exact Nat.max_eq_right (hnew.trans (Nat.le_succ _))
  refine ⟨hs.keep ⟨h, hn, hbinding⟩ he, fun b' hb' => ?_, fun n => ?_, fun n => ?_,
    fun n g hg => ?_, htold⟩
  · obtain ⟨h', hn', rfl⟩ := hb'
    exact exists_keep _ _ d hn'
  · by_cases hb : n = b.number
    · rw [hb, hself]
      exact hnew.trans (Nat.le_succ _)
    · exact (nextOf_keep_of_ne hb).ge
  · rcases hms n with hms | ⟨-, hms⟩ <;> rw [hms]
    · exact .nil
    · exact List.pairwise_singleton _ _
  · rcases hms n with hms | ⟨rfl, hms⟩ <;> rw [hms] at hg
    · exact absurd hg List.not_mem_nil
    · rw [List.mem_singleton.1 hg, hself]
      exact ⟨hnew, Nat.lt_succ_self _⟩

/-- What a handle does with what it has read: it gives what it keeps from that generation, or it
decodes, and keeps what it has decoded if there is a generation. -/
theorem finish_cases (h : Runs S (b.finish x) s ms d s') :
    (x.generation = none ∧ Runs S (b.decode x) s ms d s') ∨
    ∃ g, x.generation = some g ∧
      (s.kept? b.number g = some d ∧ s' = s ∧ decodings ms = [] ∧ reports ms = [] ∨
        ∃ s₁ ms₁, s.kept? b.number g = none ∧ Runs S (b.decode x) s ms₁ d s₁ ∧
          s' = s₁.keep b.number g d ∧ decodings ms = decodings ms₁ ∧
          reports ms = reports ms₁) := by
  cases hgen : x.generation with
  | none =>
    rw [Binding.finish_of_none hgen] at h
    exact .inl ⟨rfl, h⟩
  | some g =>
    rw [Binding.finish, hgen] at h
    obtain ⟨d?, s₁, ms₁, ms₂, hkept, hrest, rfl⟩ := runs_bind.1 h
    obtain ⟨htake, rfl⟩ := runs_act.1 hkept
    obtain ⟨hd?, rfl⟩ := Prod.mk.inj (Option.some.inj htake)
    refine .inr ⟨g, rfl, ?_⟩
    cases d? with
    | some d₀ =>
      obtain ⟨rfl, rfl, rfl⟩ := runs_done.1 hrest
      exact .inl ⟨hd?, rfl, rfl, rfl⟩
    | none =>
      obtain ⟨d₁, s₂, ms₃, ms₄, hdecode, hrest₁, rfl⟩ := runs_bind.1 hrest
      obtain ⟨u, s₃, ms₅, ms₆, hkeep, hdone, rfl⟩ := runs_bind.1 hrest₁
      obtain ⟨htake', rfl⟩ := runs_act.1 hkeep
      cases htake'
      obtain ⟨rfl, rfl, rfl⟩ := runs_done.1 hdone
      refine .inr ⟨_, ms₃, hd?, hdecode, rfl, ?_, ?_⟩
      · rw [decodings_append, decodings_append]
        exact List.append_nil _
      · rw [reports_append, reports_append]
        exact List.append_nil _

/-- What a handle does with what it has read, from the entry that stands in the cache if it has a
generation. -/
theorem tally_finish (hs : s.Abreast) (hb : s.Knows b) (hx : ∀ g, x.generation = some g → ∃ e,
      (s.registryAt b.registry).cache.entries.get? b.key = some e ∧ e.generation = g)
    (h : Runs S (b.finish x) s ms d s') : Tally s ms s' ∧
      (decodings ms = [] ∨
        decodings ms = (x.resolved.map fun y => ⟨b, y.value, x.generation⟩).toList) := by
  rcases finish_cases h with ⟨hgen, hdecode⟩ | ⟨g, hgen, ⟨-, rfl, hms, hquiet⟩ |
    ⟨s₁, ms₁, hkept, hdecode, rfl, hms, hquiet⟩⟩
  · obtain ⟨ha, -, hdecodings, htold⟩ := runs_decode hdecode
    rw [hgen] at hdecodings ⊢
    exact ⟨.of_advances hs ha (fun n => generations_eq_nil n hdecodings) htold, .inr hdecodings⟩
  · refine ⟨(Reckoned.of_advances hs ?_ hms hquiet).1, .inl hms⟩
    exact .of_same rfl fun _ => rfl
  · obtain ⟨e, he, rfl⟩ := hx g hgen
    obtain ⟨ha, hregistries, hdecodings, htold⟩ := runs_decode hdecode
    -- an entry that is not past and not the one that the handle keeps is later than that one
    have hnew : s.nextOf b.number ≤ e.generation := by
      obtain ⟨h₀, hn, rfl⟩ := hb
      have hle := hs.next_le_entry hn he
      have hne := nextOf_ne hkept
      omega
    have hstart : Tally s [] s₁ := .of_advances hs ha (fun _ => rfl) rfl
    rw [← hms] at hdecodings
    refine ⟨?_, .inr hdecodings⟩
    rw [← List.append_nil ms]
    refine hstart.trans (tally_keep (hs.advance ha) (ha.knows hb) ?_ ?_ (fun n => ?_) ?_)
    · rwa [registryAt, hregistries]
    · rwa [ha.nextOf_eq]
    · rw [hgen] at hdecodings
      exact generations_cases n hdecodings
    · rw [hms, hquiet, htold]

/-- A handle that is read decodes once at most. -/
theorem reckoned_read (hs : s.Abreast) (hb : s.Knows b)
    (hread : ∀ s ms x s', Runs (ScriptRuns k) (b.registry.read b.key) s ms x s' → s.Abreast →
      Reckoned s ms s') (h : Runs (ScriptRuns k) b.read s ms d s') : Reckoned s ms s' := by
  rw [Binding.read_eq] at h
  obtain ⟨x, s₁, ms₁, ms₂, hfirst, hfinish, rfl⟩ := runs_bind.1 h
  obtain ⟨htally, rs, hreads, hdecodings⟩ := hread _ _ _ _ hfirst hs
  obtain ⟨htally', hcases⟩ := tally_finish htally.abreast (htally.knows b hb)
    (fun g hg => entry_of_read hfirst hg) hfinish
  refine ⟨htally.trans htally', _, .read hfirst hfinish hreads, ?_⟩
  rw [decodings_append, hdecodings, List.filterMap_cons, HandleRead.decoding?]
  rcases hcases with hnone | hsome
  · rw [hnone]
    rfl
  · rw [hsome]
    cases x.resolved <;> rfl

/-! ### All tasks -/

/-- Actions by which no handle decodes or keeps anything. -/
def Action.decodesNothing : Action → Bool
  | .keep .. | .decode .. | .observe (.conversion _) _ => false
  | _ => true

/-- All runs of a task are reckoned. -/
abbrev ReckonsAlways (k : Nat) (t : Task α) : Prop :=
  Always (ScriptRuns k) (fun s ms s' => s.Abreast → Reckoned s ms s') t

theorem reckons_act {a : Action} (ha : a.decodesNothing = true) : ReckonsAlways k (act a) := by
  have hms : ∀ s : Session, decodings [⟨0, .act a, s⟩] = [] ∧ reports [⟨0, .act a, s⟩] = [] := by
    intro s
    cases a with
    | decode | keep => cases ha
    | observe c e => cases c <;> first | exact ⟨rfl, rfl⟩ | cases ha
    | _ => exact ⟨rfl, rfl⟩
  refine always_act fun s answer s' htake hs => .of_advances hs (advances_take ?_ htake)
    (hms s).1 (hms s).2
  rintro n g d rfl
  cases ha

section Scripts

variable (hS : ∀ script s ms s', ScriptRuns k script s ms s' → s.Abreast → Reckoned s ms s')
include hS

theorem outward_reckons : Outward fun _ t => ReckonsAlways k t :=
  { sequential_always composable_reckoned with
    act := fun a ha => reckons_act (by
      cases a with
      | observe c e => cases c <;> first | rfl | cases ha
      | _ => first | rfl | cases ha)
    run := fun script => always_run composable_reckoned fun s ms s' h => hS script s ms s' h }

/-- All parts of commands are reckoned, if they know of handles only what there is. -/
theorem operations_reckons : Operations fun known _ t => ∀ s ms a s',
    Runs (ScriptRuns k) t s ms a s' → (∀ b ∈ known, s.Knows b) → s.Abreast → Reckoned s ms s' := by
  have houtward := outward_reckons hS
  have hfree : ∀ {α : Type} {t : Task α} {known : List Binding}, ReckonsAlways k t →
      ∀ s ms a s', Runs (ScriptRuns k) t s ms a s' → (∀ b ∈ known, s.Knows b) → s.Abreast →
        Reckoned s ms s' := fun ht s ms a s' h _ hs => ht s ms a s' h hs
  have hask : ∀ (r : RegistryId) b, ReckonsAlways k (ask r b) := fun r b => reckons_act rfl
  have hdeliver : ∀ n x, ReckonsAlways k (act (.deliver n x)) := fun n x => reckons_act rfl
  have hread : ∀ (r : RegistryId) key, ReckonsAlways k (r.read key) := fun r key =>
    houtward.read (fun b _ => hask r b) key
  refine
    { sequential := fun known => ⟨fun a => hfree (always_done composable_reckoned a), ?_⟩
      passive := fun a ha hhandle => hfree (reckons_act ?_)
      withBinding := fun {known id f} hf s ms o s' h hknown hs => ?_
      read := fun r key => hfree (hread r key)
      bindingRead := fun b hb s ms d s' h hknown hs =>
        reckoned_read hs (hknown b hb) (hread b.registry b.key) h
      lookUp := fun n key => hfree (houtward.lookUp n key)
      invalidate := fun r key => hfree (hask r _)
      refresh := fun r => hfree (houtward.refresh hdeliver fun b _ _ => hask r b)
      own := fun a ha => hfree (reckons_act ?_)
      takeSnapshot := fun n => hfree (houtward.takeSnapshot n)
      register := fun r n priority => hfree
        (houtward.register hdeliver (fun b _ => hask r b) n priority) }
  · intro α β t f ht hf s ms b s' h hknown hs
    obtain ⟨a, s₁, ms₁, ms₂, h₁, h₂, rfl⟩ := runs_bind.1 h
    have hfirst := ht _ _ _ _ h₁ hknown hs
    have hstill := fun b hb => hfirst.1.knows b (hknown b hb)
    exact hfirst.trans (hf a _ _ _ _ h₂ hstill hfirst.1.abreast)
  · cases a with
    | observe c e => cases c <;> first | rfl | cases hhandle
    | _ => first | rfl | cases hhandle
  · obtain ⟨b?, s₁, ms₁, ms₂, hbinding, hrest, rfl⟩ := runs_bind.1 h
    have hfirst := reckons_act (a := .binding id) rfl _ _ _ _ hbinding hs
    obtain ⟨htake, rfl⟩ := runs_act.1 hbinding
    cases htake
    cases hhandle : s.handle? id with
    | none =>
      rw [hhandle] at hrest
      obtain ⟨rfl, rfl, rfl⟩ := runs_done.1 hrest
      exact hfirst
    | some handle =>
      rw [hhandle] at hrest
      obtain ⟨n, -, hn⟩ := Option.bind_eq_some_iff.1 hhandle
      refine hfirst.trans (hf handle.binding _ _ _ _ hrest ?_ hs)
      exact List.forall_mem_cons.2 ⟨⟨handle, by rwa [hs.number hn], rfl⟩, hknown⟩
  · cases a <;> first | rfl | cases ha

end Scripts

/-- Scripts are reckoned, however deep they are nested. -/
theorem reckoned_scriptRuns : ∀ (k : Nat) (script : Script) (s : Session) (ms : List Moment)
    (s' : Session), ScriptRuns k script s ms s' → s.Abreast → Reckoned s ms s'
  | 0, _, _, _, _, h, _ => h.elim
  | k + 1, script, s, ms, s', h, hs =>
    (operations_reckons (reckoned_scriptRuns k)).script [] script s ms () s' h
      (fun _ hb => absurd hb List.not_mem_nil) hs

/-- A script is run, and others whenever sources are asked and listeners are called, which may read
the same handles. No handle decodes twice from one generation. Every decoding belongs to a read of
its own and is made from the generation that was read, if there was one; so there is at most one for
a read without a generation. The failures to decode that are observed are those of the decodings,
each of them once and in their order, and no others. -/
theorem decodings_of_script {script : Script} (hs : s.Abreast)
    (h : Runs (ScriptRuns k) script.task s ms () s') :
    (∀ n, (generations n ms).Nodup) ∧
    (∃ rs, HandleReads ms rs ∧ decodings ms = rs.filterMap HandleRead.decoding?) ∧
    reports ms = (decodings ms).filterMap Decoding.failure? ∧ s'.Abreast := by
  obtain ⟨htally, hreads⟩ := reckoned_scriptRuns (k + 1) script s ms s' h hs
  exact ⟨fun n => (htally.rising n).imp fun hlt => hlt.ne', hreads, htally.told, htally.abreast⟩

/-- A handle that is to be a number, on a source that has none. When the source is asked for the
first time, it reads the handle and clears the cache. -/
def meddled : Session where
  sources := [.scripted { id := "a", name := "a", values := .ofList [("k", "many")],
                          onLookup := ⟨[.handle "x" .get, .invalidate none], 1⟩ }]
  registries := [{ layers := [⟨0, "a", true, 0, 0, .empty⟩], nextSeq := 1 }]
  handles := [{ binding := ⟨0, 0, "k", (Kind.integer ⟨true, .w32⟩).converter, .integer 0, false⟩ }]
  ids := { sources := .ofList [("a", 0)], handles := .ofList [("x", 0)] }

/-- What the source reads has the first generation. Then the reading that has asked the source goes
on, and has none, since the cache has been cleared. The next reading has the second generation, and
after that there is nothing to decode. -/
theorem decodings_of_meddled : ∃ ms rs s', Runs (ScriptRuns 60)
      (Script.task ⟨"main", [.handle "x" .get, .handle "x" .orDefault, .handle "x" .value]⟩)
      meddled ms () s' ∧
    (decodings ms).map (fun x => (x.raw, x.generation)) =
      [("many", some 2), ("many", none), ("many", some 1)] ∧
    (generations 0 ms).Nodup ∧ HandleReads ms rs ∧
    decodings ms = rs.filterMap HandleRead.decoding? ∧
    reports ms = (decodings ms).filterMap Decoding.failure? ∧
    (reports ms).map (·.1) = ["k", "k", "k"] := by
  obtain ⟨x, hx⟩ : ∃ x, x = Machine.follow ⟨meddled, [Script.task
    ⟨"main", [.handle "x" .get, .handle "x" .orDefault, .handle "x" .value]⟩]⟩ []
    (List.replicate 60 0) := ⟨_, rfl⟩
  have hdone : (x.2.tasks[0]?).bind Task.result? = some () := by
    rw [hx]
    decide +kernel
  have hdecodings : (decodings x.1).map (fun d => (d.raw, d.generation)) =
      [("many", some 2), ("many", none), ("many", some 1)] := by
    rw [hx]
    decide +kernel
  have hreports : (reports x.1).map (·.1) = ["k", "k", "k"] := by
    rw [hx]
    decide +kernel
  have hunread : meddled.IsUnread := by
    refine ⟨fun reg hreg => ?_, fun n h hn => ?_, fun h hh => ?_⟩
    · rw [List.mem_singleton.1 hreg]
    · match n, hn with
      | 0, hn => cases hn; rfl
    · rw [List.mem_singleton.1 hh]
  have hruns := runs_of_follow hx hdone
  obtain ⟨honce, ⟨rs, hreads, hall⟩, htold, -⟩ := decodings_of_script hunread.abreast hruns
  exact ⟨x.1, rs, _, hruns, hdecodings, honce 0, hreads, hall, htold, hreports⟩

end Strata
