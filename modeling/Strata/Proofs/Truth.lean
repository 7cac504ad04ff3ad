import Strata.Proofs.Evictions
import Strata.Proofs.LastCalls
import Strata.Proofs.Provenance

/-!
What listeners are told is what keys resolve to. A listener is told what a key resolves to through
the recorded snapshots, while a key that is read is looked up in the sources. Main statement: in
every run an operation tells what its key resolves to right after it, unless a layer that is reached
then answers otherwise than recorded; and such a layer failed when it was put in, or its source has
come to hold other data since it answered what is recorded (`resolve_eq_delivered`). All of this
happens (`resolve_ne_delivered`).
-/

namespace Strata

open Session RegistryId Machine Strata.Task

/-- The source that an operation registers is one of a session. -/
def RegistryId.Operation.IsOf (s : Session) : Operation → Prop
  | .register source _ => source < s.sources.length
  | .refresh => True

namespace RegistryId

variable {s : Session} {r : RegistryId} {op : Operation}

theorem growing_operation (r : RegistryId) (op : Operation) : Growing (op.task r) := by
  cases op with
  | register n priority => exact (growing_register r n priority).bind fun _ => growing_done ()
  | refresh => exact (growing_refresh r).bind fun _ => growing_done ()

/-- An operation asks only sources that are there. -/
theorem asksAmong_operation (hop : op.IsOf s) (r : RegistryId) :
    AsksAmong s.sources.length (op.task r) := by
  cases op with
  | register n priority =>
    exact (asksAmong_register hop r priority).bind fun _ _ _ => asksAmong_done ()
  | refresh => exact AsksAmong.bind (governs_refresh r _ trivial) fun _ _ _ => asksAmong_done ()

end RegistryId

/-- After a run of scripts in a session whose registry is fresh a registration or a refresh is
carried out, and it tells a listener of a key of something. Sources are of the five kinds, and no
listener uses a registry when it is called. -/
structure Tidings (s₀ : Session) (scripts : List Script) (earlier : List Moment) (m : Machine Unit)
    (r : RegistryId) (op : Operation) (during : List Moment) (s' : Session) (key : String) (n : Nat)
    (x : Option Resolved) : Prop where
  fresh : s₀.registries = [{}]
  before : Machine.Run ⟨s₀, scripts.map Script.task⟩ earlier m
  isPlain : m.session.IsPlain
  outside : ∀ l ∈ m.session.listeners, l.IsOutside
  isOf : op.IsOf m.session
  operation : Machine.Run ⟨m.session, [op.task r]⟩ during ⟨s', [.done ()]⟩
  listens : m.session.Listens n r key
  call : (n, x) ∈ deliveries during

namespace Tidings

variable {s₀ s' : Session} {scripts : List Script} {earlier during : List Moment}
  {m : Machine Unit} {r : RegistryId} {op : Operation} {key : String} {n : Nat}
  {x : Option Resolved}

theorem isNumbered (h : Tidings s₀ scripts earlier m r op during s' key n x) :
    ∀ reg ∈ s₀.registries, reg.IsNumbered := by
  rw [h.fresh, List.forall_mem_singleton]
  exact Registry.isNumbered_empty

/-- How layers are recorded is explained when the operation begins, and so it is when it is
over. -/
theorem explained (h : Tidings s₀ scripts earlier m r op during s' key n x) :
    ∀ l ∈ s'.layersOf r, Explained r l (during ++ earlier) := by
  have hnone : ∀ r, s₀.layersOf r = [] := by
    intro r
    rw [Session.layersOf, h.fresh]
    cases r with
    | zero => rfl
    | succ r => rfl
  have hpeopled : Machine.Peopled ⟨s₀, scripts.map Script.task⟩ := .of_scripts fun r l hl => by
    rw [hnone] at hl
    exact absurd hl List.not_mem_nil
  have hearlier : ∀ r, ∀ l ∈ m.session.layersOf r, Explained r l (earlier ++ []) := by
    refine explained_run (sound_run h.isNumbered .start) hpeopled (fun r l hl => ?_) h.before
    rw [hnone] at hl
    exact absurd hl List.not_mem_nil
  rw [List.append_nil] at hearlier
  have hsound : Sound [] ⟨m.session, [op.task r]⟩ :=
    sound_of_growing (sound_run h.isNumbered h.before).numbered
      (List.forall_mem_singleton.2 (growing_operation r op))
  have hpeopled' : Machine.Peopled ⟨m.session, [op.task r]⟩ :=
    ⟨(hpeopled.run h.before).1.session,
      List.forall_mem_singleton.2 ((asksAmong_operation h.isOf r).mono fun _ _ _ => trivial)⟩
  exact explained_run hsound hpeopled' hearlier h.operation r

/-- What is told of a key is what the registry has recorded of it when the operation is over, and
the cache does not contradict that. -/
theorem confirmed (h : Tidings s₀ scripts earlier m r op during s' key n x) : s'.IsPlain ∧
    ∃ reg', s'.registries[r]? = some reg' ∧ x = (View.recorded reg'.layers).resolve key ∧
      ∀ e, reg'.cache.entries.get? key = some e → e.resolved = x := by
  have hregular := (isRegular_run (isRegular_of_registries h.fresh) h.isNumbered h.before).1
  obtain ⟨hs', reg, reg', changes, hreg, hreg', hconfirms, hcalls⟩ :=
    confirms_of_operation h.isPlain h.outside (runs_of_machine _ (Nat.le_refl _) h.operation)
  obtain ⟨key', hchange, hlistens⟩ := hcalls _ h.call
  obtain ⟨-, rfl⟩ :=
    hregular.orderly.listener_unique n r r key' key ⟨reg, hreg, hlistens⟩ h.listens
  obtain ⟨hx, hentry⟩ := hconfirms key' x hchange
  exact ⟨hs', reg', hreg', hx, hentry⟩

end Tidings

/-- What an operation tells the listener of a key is what the key resolves to as soon as the
operation is over, unless a layer that is reached then answers otherwise than recorded of it, or
fails. The source of such a layer failed when the layer was put in, and nothing has been recorded of
the layer since; or the source was written to, or brought other data by a snapshot, after it had
answered what is recorded of the layer. -/
theorem resolve_eq_delivered {s₀ s' : Session} {scripts : List Script}
    {earlier during : List Moment} {m : Machine Unit} {r : RegistryId} {op : Operation}
    {key : String} {n : Nat} {x : Option Resolved}
    (h : Tidings s₀ scripts earlier m r op during s' key n x) (hkey : key ≠ "") :
    ∃ reg' v s'', s'.registries[r]? = some reg' ∧ s'.run (r.resolve key) = some (v, s'') ∧
      (v = x ∨ ∃ l, s'.Deviates key reg'.layers l ∧
        (FailedFirst r l (during ++ earlier) ∨ Outdated r l (during ++ earlier))) := by
  obtain ⟨hs', reg', hreg', hx, hentry⟩ := h.confirmed
  obtain ⟨reading, s'', hread⟩ := exists_ends_read (S := ScriptRuns maxDepth) hs' hreg' key
  obtain ⟨ms', hms'⟩ := hread.bind (f := fun reading => .done reading.resolved)
    (ends_done.2 ⟨rfl, rfl⟩)
  refine ⟨reg', reading.resolved, s'', hreg', run_of_runs hms', ?_⟩
  rcases read_spec hs' hread with ⟨hempty, -, -⟩ | ⟨reg₁, hreg₁, hcases⟩
  · exact absurd (String.isEmpty_iff.1 hempty) hkey
  obtain rfl := Option.some.inj (hreg'.symm.trans hreg₁)
  -- The key is in the cache, which agrees with the snapshots, or its sources are asked.
  rcases hcases with ⟨e, he, rfl, -⟩ | ⟨-, y, s₁, hconsult, hy, -⟩
  · exact .inl (hentry e he)
  rcases consult_eq_recorded hs' hconsult with hsame | ⟨pre, l, post, hlayers, hpre, hl⟩
  · left
    rw [hy, hsame, hx]
  · have hdeviates : s'.Deviates key reg'.layers l := ⟨pre, post, hlayers, hpre, hl⟩
    have hmem : l ∈ s'.layersOf r := by
      rw [Session.layersOf_eq hreg']
      exact mem_of_deviates hdeviates
    have hpast := h.before.leads.trans h.operation.leads
    exact .inr ⟨l, hdeviates, cause_of_lookup hpast hs' (h.explained l hmem) hl⟩

/-- What a script leads to when it is run by itself in a new session. -/
def afterScript (script : Script) : List Moment × Machine Unit :=
  (⟨{}, [script.task]⟩ : Machine Unit).follow [] (List.replicate 40 0)

/-- What an operation leads to when it is carried out after a script. -/
def afterOperation (script : Script) (op : Operation) : List Moment × Machine Unit :=
  (⟨(afterScript script).2.session, [op.task 0]⟩ : Machine Unit).follow [] (List.replicate 20 0)

/-- Whether a listener does nothing when it is called. -/
def Listener.isMute : Listener → Bool
  | .script s => s.commands.isEmpty
  | .follower .. => true

/-- What is seen of an operation after a script: whether sources are of the five kinds, listeners do
nothing and the operation is over; who listens to what; and whom the operation has called. -/
def seen (script : Script) (op : Operation) :
    Bool × List (List (String × Nat)) × List (Nat × Option Resolved) :=
  let s := (afterScript script).2.session
  (s.sources.all (·.isBuiltin) && s.listeners.all (·.isMute) &&
      (afterOperation script op).2.isOver,
    s.registries.map (·.listeners), deliveries (afterOperation script op).1)

/-- What is told to the listener of `k` by an operation after a script can be seen. -/
theorem tidings_of_seen {script : Script} {op : Operation} {x : Option Resolved}
    (hop : op.IsOf (afterScript script).2.session)
    (h : seen script op = (true, [[("k", 0)]], [(0, x)])) :
    Tidings {} [script] (afterScript script).1 (afterScript script).2 0 op
      (afterOperation script op).1 (afterOperation script op).2.session "k" 0 x := by
  simp only [seen, Prod.mk.injEq, Bool.and_eq_true] at h
  obtain ⟨⟨⟨hplain, hmute⟩, hover⟩, hlistens, hcalls⟩ := h
  obtain ⟨reg, hregs, hlisteners⟩ := List.map_eq_singleton_iff.1 hlistens
  have hrun : Machine.Run ⟨(afterScript script).2.session, [op.task 0]⟩
      (afterOperation script op).1 (afterOperation script op).2 := Machine.run_follow _ .start
  rw [Machine.tasks_of_isOver hover hrun.length_tasks] at hrun
  refine ⟨rfl, Machine.run_follow _ .start, List.all_eq_true.1 hplain, fun l hl => ?_, hop, hrun,
    ⟨reg, by rw [hregs]; rfl, ?_⟩, ?_⟩
  · have hl' := List.all_eq_true.1 hmute l hl
    cases l with
    | script script =>
      intro c hc
      rw [List.isEmpty_iff.1 hl'] at hc
      exact absurd hc List.not_mem_nil
    | follower id converter default => trivial
  · rw [hlisteners]
    exact List.mem_singleton_self _
  · rw [hcalls]
    exact List.mem_singleton_self _

/-- A file and a map in front of it, which are registered. The map is written to, and the file is
deleted. -/
def deletedFile : Script :=
  ⟨"writer", [.deed (.write "f.properties" (.text "k=1")),
    .make "f" (.file (.object [("path", .text "f.properties"), ("name", .text "f")])) (some 0),
    .make "a" (.map { name := "a" }) (some (-10)), .deed (.subscribe "x" "k" []),
    .deed (.put "a" "k" "2"), .deed (.delete "f.properties")]⟩

/-- The file fails in a refresh, and what is told is the value of the map. -/
theorem resolve_eq_delivered_of_deletedFile : ∃ earlier m during s' reg' v s'',
    Tidings {} [deletedFile] earlier m 0 .refresh during s' "k" 0 (some ⟨"2", "a"⟩) ∧
    (answers 0 (history 0 during)).map (·.toOption) = [none] ∧
    s'.registries[0]? = some reg' ∧ s'.run (RegistryId.resolve 0 "k") = some (v, s'') ∧
    (v = some ⟨"2", "a"⟩ ∨ ∃ l, s'.Deviates "k" reg'.layers l ∧
      (FailedFirst 0 l (during ++ earlier) ∨ Outdated 0 l (during ++ earlier))) := by
  have hseen : seen deletedFile .refresh = (true, [[("k", 0)]], [(0, some ⟨"2", "a"⟩)]) := by
    decide +kernel
  have hfails : (answers 0 (history 0 (afterOperation deletedFile .refresh).1)).map (·.toOption) =
      [none] := by decide +kernel
  have hop : Operation.refresh.IsOf (afterScript deletedFile).2.session := trivial
  have htidings := tidings_of_seen hop hseen
  obtain ⟨reg', v, s'', hreg', hresolve, hv⟩ := resolve_eq_delivered htidings (by decide)
  exact ⟨_, _, _, _, reg', v, s'', htidings, hfails, hreg', hresolve, hv⟩

/-- After a script an operation tells the listener of `k` what `k` does not resolve to, although no
layer fails. -/
def Misleads (script : Script) (op : Operation) : Prop :=
  ∃ earlier m during s' x v s'', Tidings {} [script] earlier m 0 op during s' "k" 0 x ∧
    (∀ l ∈ s'.layersOf 0, ∃ value, (s'.lookup l.source "k").1.1 = .ok value) ∧
    s'.run (RegistryId.resolve 0 "k") = some (v, s'') ∧ v ≠ x

/-- A map that is written to after it was registered. -/
def unrecordedWrite : Script :=
  ⟨"writer", [.make "a" (.map { name := "a" }) (some 0), .deed (.put "a" "k" "1"),
    .deed (.subscribe "x" "k" []),
    .make "b" (.map { name := "b", values := .ofList [("k", "2")] }) none]⟩

/-- A file that is gone when it is registered. -/
def unrecordedFile : Script :=
  ⟨"writer", [.deed (.write "f.properties" (.text "k=1")),
    .make "f" (.file (.object [("path", .text "f.properties"), ("name", .text "f")])) none,
    .deed (.delete "f.properties"), .register "f" 0, .deed (.subscribe "x" "k" []),
    .make "b" (.map { name := "b", values := .ofList [("k", "2")] }) none]⟩

/-- A file that is read anew after it was registered. -/
def unrecordedSnapshot : Script :=
  ⟨"writer", [.deed (.write "f.properties" (.text "n=1")),
    .make "f" (.file (.object [("path", .text "f.properties"), ("name", .text "f")])) (some 0),
    .deed (.write "f.properties" (.text "k=1")), .snapshot "f", .deed (.subscribe "x" "k" []),
    .make "b" (.map { name := "b", values := .ofList [("k", "2")] }) none]⟩

/-- A map of the name `b` is registered behind another source, and its value is told. -/
theorem misleads_of_seen {script : Script} (name : String)
    (hop : 1 < (afterScript script).2.session.sources.length)
    (h : seen script (.register 1 10) = (true, [[("k", 0)]], [(0, some ⟨"2", "b"⟩)]))
    (hlookup : ∀ l ∈ (afterOperation script (.register 1 10)).2.session.layersOf 0,
      ((afterOperation script (.register 1 10)).2.session.lookup l.source "k").1.1.toOption ≠ none)
    (hresolve : ((afterOperation script (.register 1 10)).2.session.run
      (RegistryId.resolve 0 "k")).map (·.1) = some (some ⟨"1", name⟩)) :
    Misleads script (.register 1 10) := by
  obtain ⟨⟨v, s''⟩, hrun, rfl⟩ := Option.map_eq_some_iff.1 hresolve
  refine ⟨_, _, _, _, _, _, s'', tidings_of_seen hop h, fun l hl => ?_, hrun, by simp⟩
  cases hx : ((afterOperation script (.register 1 10)).2.session.lookup l.source "k").1.1 with
  | error e => exact absurd (by rw [hx]; rfl) (hlookup l hl)
  | ok value => exact ⟨value, rfl⟩

/-- Listeners may be told what keys do not resolve to, although no layer fails: a map is registered
behind a source that holds what is not recorded of it, and the listener is told of the map's value.
-/
theorem resolve_ne_delivered : Misleads unrecordedWrite (.register 1 10) ∧
    Misleads unrecordedFile (.register 1 10) ∧ Misleads unrecordedSnapshot (.register 1 10) := by
  refine ⟨misleads_of_seen "a" ?_ ?_ ?_ ?_, misleads_of_seen "f" ?_ ?_ ?_ ?_,
    misleads_of_seen "f" ?_ ?_ ?_ ?_⟩ <;> decide +kernel

end Strata
