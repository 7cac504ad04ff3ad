import Strata.Proofs.Exclusion

/-!
Sources and what they draw from. A footing is a source of one of the five kinds with the host that
it draws from. Incidents change it: the source is asked, a map is written to, or the host becomes
another one (files are written, damaged or deleted, system properties are set, servers are told what
to answer). An incident brings data when it writes them or is a snapshot that succeeds; if it brings
none, the source keeps the data that it has (`contents_take`), and so over whole runs
(`contents_run`). What fails leaves the source as it was (`take_snapshot_error`,
`take_lookup_error`). Whatever happens in a session is an incident of each of its sources
(`exists_incident_of_take`).
-/

namespace Strata

/-- A source, and the host that it draws from. -/
structure Footing where
  source : Source
  host : Host

/-- What can happen to a source and to what it draws from. Only maps can be written to; the host
may become any other one. -/
inductive Incident where
  | lookup (key : String)
  | snapshot
  | put (key value : String)
  | remove (key : String)
  | extend (values : Table String)
  | host (h : Host)

namespace Footing

/-- The data that the next lookup reads, if there are any. -/
def contents (f : Footing) : Option Snapshot := f.source.contents f.host

/-- What a lookup answers. -/
def lookup (f : Footing) (key : String) : Except Failure (Option String) :=
  (f.source.lookup f.host key).1

/-- What a snapshot answers. -/
def snapshot (f : Footing) : Except Failure Snapshot := (f.source.snapshot f.host).1

/-- The footing after a map was written to. -/
def write (f : Footing) (g : MapSource → MapSource) : Footing :=
  match f.source with
  | .map m => { f with source := .map (g m) }
  | _ => f

/-- The footing after an incident. -/
def take (f : Footing) : Incident → Footing
  | .lookup key =>
    let (_, source, host) := f.source.lookup f.host key
    ⟨source, host⟩
  | .snapshot =>
    let (_, source, host) := f.source.snapshot f.host
    ⟨source, host⟩
  | .put key value => f.write (·.put key value)
  | .remove key => f.write (·.remove key)
  | .extend values => f.write (·.extend values)
  | .host h => { f with host := h }

/-- The footing after several incidents. -/
def run (f : Footing) (xs : List Incident) : Footing := xs.foldl take f

/-- The values that a map has once it was written to. -/
def written (f : Footing) (g : MapSource → MapSource) : Option Snapshot :=
  match f.source with
  | .map m => some (g m).values
  | _ => none

/-- The data that an incident brings. A snapshot brings data if it succeeds; a lookup brings none
to a source that has some. -/
def brought (f : Footing) : Incident → Option Snapshot
  | .lookup _ => none
  | .snapshot => f.snapshot.toOption
  | .put key value => f.written (·.put key value)
  | .remove key => f.written (·.remove key)
  | .extend values => f.written (·.extend values)
  | .host h =>
    match f.source with
    | .system _ => some h.properties
    | _ => none

/-- The data that were brought last in a run that begins with given ones. -/
def latest (t : Snapshot) : Footing → List Incident → Snapshot
  | _, [] => t
  | f, x :: xs => latest ((f.brought x).getD t) (f.take x) xs

/-- No incident of a run brings other data than given ones. -/
def Keeps (t : Snapshot) : Footing → List Incident → Prop
  | _, [] => True
  | f, x :: xs => (∀ t', f.brought x = some t' → t' = t) ∧ Keeps t (f.take x) xs

instance decidableKeeps (t : Snapshot) : ∀ f xs, Decidable (Keeps t f xs)
  | _, [] => .isTrue trivial
  | f, x :: xs =>
    have := decidableKeeps t (f.take x) xs
    inferInstanceAs (Decidable ((∀ t' ∈ f.brought x, t' = t) ∧ Keeps t (f.take x) xs))

variable {f : Footing} {key : String} {t : Snapshot} {e : Failure} {xs : List Incident}

/-! ### Asking a source -/

/-- A source that has data answers from them, and nothing changes. -/
theorem lookup_of_contents (h : f.contents = some t) : f.lookup key = .ok (t.get? key) := by
  rw [lookup, Source.lookup_of_contents h]

theorem take_lookup_of_contents (h : f.contents = some t) : f.take (.lookup key) = f := by
  rw [take, Source.lookup_of_contents h]

theorem contents_take_snapshot_ok (h : f.snapshot = .ok t) :
    (f.take .snapshot).contents = some t :=
  Source.contents_snapshot_ok h

theorem contents_eq_of_properties {f' : Footing} (hsource : f'.source = f.source)
    (hprops : f'.host.properties = f.host.properties) : f'.contents = f.contents := by
  rw [contents, contents, hsource, Source.contents_congr hprops]

/-- A snapshot that fails leaves the source and its data as they were. -/
theorem take_snapshot_error (h : f.snapshot = .error e) :
    (f.take .snapshot).source = f.source ∧ (f.take .snapshot).contents = f.contents := by
  have hsource : (f.take .snapshot).source = f.source := Source.snapshot_error h
  exact ⟨hsource, contents_eq_of_properties hsource Source.properties_snapshot⟩

/-- A lookup that fails leaves the source and its data as they were. -/
theorem take_lookup_error (h : f.lookup key = .error e) :
    (f.take (.lookup key)).source = f.source ∧
      (f.take (.lookup key)).contents = f.contents := by
  have hsource : (f.take (.lookup key)).source = f.source := Source.lookup_error h
  exact ⟨hsource, contents_eq_of_properties hsource Source.properties_lookup⟩

/-! ### Incidents -/

theorem contents_write (h : f.contents = some t) (g : MapSource → MapSource) :
    (f.write g).contents = some ((f.written g).getD t) := by
  obtain ⟨source, host⟩ := f
  cases source with
  | map m => rfl
  | _ => exact h

/-- A source that has data has what an incident brings after it, and else the data from before. -/
theorem contents_take (h : f.contents = some t) (x : Incident) :
    (f.take x).contents = some ((f.brought x).getD t) := by
  cases x with
  | lookup key => rw [take_lookup_of_contents h, h]; rfl
  | snapshot =>
    cases hs : f.snapshot with
    | ok t' => rw [contents_take_snapshot_ok hs, brought, hs]; rfl
    | error e => rw [(take_snapshot_error hs).2, h, brought, hs]; rfl
  | put | remove | extend => exact contents_write h _
  | host h' =>
    obtain ⟨source, host⟩ := f
    cases source with
    | system _ => rfl
    | _ => exact h

/-- A source that once had data has after any run what was brought last. -/
theorem contents_run (h : f.contents = some t) : (f.run xs).contents = some (f.latest t xs) := by
  induction xs generalizing f t with
  | nil => exact h
  | cons x xs ih => exact ih (contents_take h x)

theorem latest_of_keeps (h : f.Keeps t xs) : f.latest t xs = t := by
  induction xs generalizing f with
  | nil => rfl
  | cons x xs ih =>
    have hx : (f.brought x).getD t = t := by
      cases hb : f.brought x with
      | none => rfl
      | some t' => exact h.1 t' hb
    rw [latest, hx, ih h.2]

/-- What a source of one of the five kinds answers when what it draws from fails. Once a snapshot
has succeeded, lookups answer from it until an incident brings other data. A snapshot or a lookup
that fails leaves the source and its data as they were. A source that once had data answers every
lookup from those that were brought last, whatever has failed since. -/
theorem answers_outlast_failures (f : Footing) :
    (∀ t, f.snapshot = .ok t → ∀ xs, (f.take .snapshot).Keeps t xs →
      ∀ key, ((f.take .snapshot).run xs).lookup key = .ok (t.get? key)) ∧
    (∀ e, f.snapshot = .error e →
      (f.take .snapshot).source = f.source ∧ (f.take .snapshot).contents = f.contents) ∧
    (∀ key e, f.lookup key = .error e →
      (f.take (.lookup key)).source = f.source ∧
        (f.take (.lookup key)).contents = f.contents) ∧
    (∀ t, f.contents = some t →
      ∀ xs key, (f.run xs).lookup key = .ok ((f.latest t xs).get? key)) ∧
    (∀ t, f.contents = some t → ∀ xs, f.Keeps t xs →
      ∀ key, (f.run xs).lookup key = .ok (t.get? key)) := by
  have hlatest : ∀ (f : Footing) (t : Snapshot), f.contents = some t → ∀ xs key,
      (f.run xs).lookup key = .ok ((f.latest t xs).get? key) :=
    fun f t h xs key => lookup_of_contents (contents_run h)
  have hkeeps : ∀ (f : Footing) (t : Snapshot), f.contents = some t → ∀ xs, f.Keeps t xs →
      ∀ key, (f.run xs).lookup key = .ok (t.get? key) := by
    intro f t h xs hk key
    rw [hlatest f t h, latest_of_keeps hk]
  exact ⟨fun t ht => hkeeps _ t (contents_take_snapshot_ok ht), fun e => take_snapshot_error,
    fun key e => take_lookup_error, hlatest f, hkeeps f⟩

/-- A host with one file. -/
def fileHost (text : String) : Host := { files := Files.write {} "f" (.text text) }

/-- A file with one property, and a source that has not read it yet. -/
def propertyFile : Footing :=
  ⟨.file { name := "f", path := "f", kind := .properties, isMutable := true, isOptional := false,
           data := .empty }, fileHost "k=1"⟩

/-- The file is damaged, and then it is gone. -/
def damages : List Incident := [.host (fileHost "k"), .snapshot, .host {}, .snapshot]

/-- A source whose server cannot be reached. -/
def unreached : Footing :=
  ⟨.remote { name := "r", address := .elsewhere "/", pointer := none, headers := .empty }, {}⟩

/-- The file is read once. As it is damaged and gone then, snapshots fail, and lookups go on
answering from what was read; so it is again once it was mended and read in between. A source that
never had data fails too, and is left without any. -/
theorem answers_outlast_failures_of_damages : ∃ t,
    propertyFile.snapshot = .ok t ∧ t.get? "k" = some "1" ∧
    (∀ n ∈ [1, 3], ∃ e, ((propertyFile.take .snapshot).run (damages.take n)).snapshot = .error e ∧
      (((propertyFile.take .snapshot).run (damages.take n)).take .snapshot).contents = some t) ∧
    ((propertyFile.take .snapshot).run damages).lookup "k" = .ok (some "1") ∧
    ((propertyFile.take .snapshot).run
      (damages ++ [.host (fileHost "k=2"), .snapshot] ++ damages)).lookup "k" = .ok (some "2") ∧
    ∃ e, unreached.lookup "k" = .error e ∧ (unreached.take (.lookup "k")).contents = none := by
  let t : Snapshot := .ofList [("k", "1")]
  let read := propertyFile.take .snapshot
  have hsnapshot : propertyFile.snapshot = .ok t := by decide +kernel
  have hvalue : t.get? "k" = some "1" := by decide +kernel
  have hfails : ∀ n ∈ [1, 3], (read.run (damages.take n)).snapshot.toOption = none ∧
      (read.run (damages.take n)).contents = some t := by decide +kernel
  have hkeeps : read.Keeps t damages := by decide +kernel
  have hmended : (read.latest t (damages ++ [.host (fileHost "k=2"), .snapshot] ++ damages)).get?
      "k" = some "2" := by decide +kernel
  have hlookup : (unreached.lookup "k").toOption = none := by decide +kernel
  refine ⟨t, hsnapshot, hvalue, fun n hn => ?_, ?_, ?_, ?_⟩
  · obtain ⟨hnone, hheld⟩ := hfails n hn
    obtain ⟨-, herror, -⟩ := answers_outlast_failures (read.run (damages.take n))
    cases hs : (read.run (damages.take n)).snapshot with
    | ok t' =>
      rw [hs] at hnone
      cases hnone
    | error e => exact ⟨e, rfl, (herror e hs).2.trans hheld⟩
  · obtain ⟨hok, -⟩ := answers_outlast_failures propertyFile
    rw [hok t hsnapshot damages hkeeps, hvalue]
  · obtain ⟨-, -, -, hlatest, -⟩ := answers_outlast_failures read
    rw [hlatest t (contents_take_snapshot_ok hsnapshot), hmended]
  · obtain ⟨-, -, herror, -⟩ := answers_outlast_failures unreached
    cases hl : unreached.lookup "k" with
    | ok value =>
      rw [hl] at hlookup
      cases hlookup
    | error e => exact ⟨e, rfl, (herror "k" e hl).2⟩

end Footing

/-! ### Sessions -/

/-- A source of a session and the host, if the source is of one of the five kinds. -/
def Session.footing? (s : Session) (n : SourceId) : Option Footing :=
  match s.sources[n]? with
  | some (.builtin p) => some ⟨p, s.host⟩
  | _ => none

namespace Session

variable {s s' : Session} {n n' : SourceId} {f : Footing}

theorem footing?_eq_some :
    s.footing? n = some f ↔ s.sources[n]? = some (.builtin f.source) ∧ s.host = f.host := by
  obtain ⟨source, host⟩ := f
  rcases hp : s.sources[n]? with _ | ⟨p | p⟩ <;> simp [footing?, hp]

/-- A source that stays as it is stands on the host as it has become. -/
theorem footing?_of_sources (h : s.footing? n = some f) (hs : s'.sources[n]? = s.sources[n]?) :
    s'.footing? n = some (f.take (.host s'.host)) :=
  footing?_eq_some.2 ⟨hs.trans (footing?_eq_some.1 h).1, rfl⟩

/-- Writing to a map is an incident of that map. -/
theorem footing?_changeMap (h : s.footing? n = some f) (id : String) (o : MapSource → Outcome)
    (g : MapSource → MapSource) :
    (s.changeMap id o g).2.footing? n = some (f.write g) ∨
      (s.changeMap id o g).2.footing? n = some f := by
  obtain ⟨hsource, hhost⟩ := footing?_eq_some.1 h
  simp only [changeMap]
  split
  · rename_i n' m hm
    have hm' := sources_of_source? hm
    by_cases hn : n = n'
    · subst hn
      rw [hm'] at hsource
      obtain ⟨source, host⟩ := f
      cases hsource
      exact .inl (footing?_eq_some.2 ⟨sources_setSource_self hm', hhost⟩)
    · exact .inr (footing?_eq_some.2 ⟨(sources_setSource_of_ne hn).trans hsource, hhost⟩)
  · exact .inr h

/-- A deed is an incident of each source. -/
theorem exists_incident_of_carryOut (h : s.footing? n = some f) (d : Deed Command) :
    ∃ x, (s.carryOut d).2.footing? n = some (f.take x) := by
  have hsame : ∀ s' : Session, s'.footing? n = some f → ∃ x, s'.footing? n = some (f.take x) :=
    fun s' hs' => ⟨.host f.host, hs'⟩
  cases d with
  | put id key value => exact (footing?_changeMap h id _ _).elim (⟨.put key value, ·⟩) (hsame _)
  | remove id key => exact (footing?_changeMap h id _ _).elim (⟨.remove key, ·⟩) (hsame _)
  | extend id values => exact (footing?_changeMap h id _ _).elim (⟨.extend values, ·⟩) (hsame _)
  | script id c =>
    simp only [carryOut, changeScript]
    split
    · rename_i n' p hp
      have hn : n ≠ n' := by
        rintro rfl
        have hsource := (footing?_eq_some.1 h).1
        rw [sources_of_source? hp] at hsource
        cases hsource
      exact ⟨_, footing?_of_sources h (sources_setSource_of_ne hn)⟩
    · exact hsame _ h
  | follow id =>
    simp only [carryOut, follow]
    split
    · exact hsame _ h
    · exact ⟨_, footing?_of_sources h rfl⟩
  | subscribe id key reaction => exact ⟨_, footing?_of_sources h rfl⟩
  | _ => exact ⟨_, footing?_of_sources h (congrArg (·[n]?) (sameBase_carryOut rfl).sources)⟩

/-- Asking a source of a session is an incident of each of its sources. -/
theorem exists_incident_of_lookup (h : s.footing? n = some f) (n' : SourceId) (key : String) :
    ∃ x, (s.lookup n' key).2.footing? n = some (f.take x) := by
  by_cases hn : n = n'
  · subst hn
    obtain ⟨hsource, hhost⟩ := footing?_eq_some.1 h
    refine ⟨.lookup key, footing?_eq_some.2 ?_⟩
    simp only [lookup, hsource, hhost]
    exact ⟨sources_setSource_self hsource, rfl⟩
  · exact ⟨_, footing?_of_sources h (sources_lookup_of_ne hn)⟩

theorem exists_incident_of_snapshot (h : s.footing? n = some f) (n' : SourceId) :
    ∃ x, (s.snapshot n').2.footing? n = some (f.take x) := by
  by_cases hn : n = n'
  · subst hn
    obtain ⟨hsource, hhost⟩ := footing?_eq_some.1 h
    refine ⟨.snapshot, footing?_eq_some.2 ?_⟩
    simp only [snapshot, hsource, hhost]
    exact ⟨sources_setSource_self hsource, rfl⟩
  · exact ⟨_, footing?_of_sources h (sources_snapshot_of_ne hn)⟩

/-- New sources come after the ones that are there. -/
theorem getElem?_append_of_footing? (h : s.footing? n = some f) (ps : List Provider) :
    (s.sources ++ ps)[n]? = s.sources[n]? :=
  List.getElem?_append_left (List.getElem?_eq_some_iff.1 (footing?_eq_some.1 h).1).1

/-- An action is an incident of each source. -/
theorem exists_incident_of_take {a : Action} {answer : a.Answer} (h : s.footing? n = some f)
    (ha : s.take a = some (answer, s')) : ∃ x, s'.footing? n = some (f.take x) := by
  cases a with
  | lookup n' key =>
    have hincident := exists_incident_of_lookup h n' key
    rwa [Option.some.inj ha] at hincident
  | snapshot n' =>
    have hincident := exists_incident_of_snapshot h n'
    rwa [Option.some.inj ha] at hincident
  | deed d =>
    have hincident := exists_incident_of_carryOut h d
    rwa [Option.some.inj ha] at hincident
  | build id order =>
    have hsources := (sameBase_build s id order).sources
    simp only [take] at ha
    rcases hb : s.build id order with ⟨e | p, s₀⟩ <;> rw [hb] at ha hsources <;> cases ha
    · exact ⟨_, footing?_of_sources h (congrArg (·[n]?) hsources)⟩
    · have hadd : (s₀.addSource id p).sources = s.sources ++ [p] := congrArg (· ++ [p]) hsources
      exact ⟨_, footing?_of_sources h (hadd ▸ getElem?_append_of_footing? h _)⟩
  | create t =>
    simp only [take] at ha
    split at ha <;> cases ha
    · exact ⟨_, footing?_of_sources h rfl⟩
    · exact ⟨_, footing?_of_sources h (getElem?_append_of_footing? h _)⟩
  | deliver n' x =>
    simp only [take, Option.some.injEq, deliver] at ha
    split at ha <;> (cases ha; exact ⟨_, footing?_of_sources h rfl⟩)
  | registry r b =>
    obtain ⟨reg, reg', -, -, rfl⟩ := exists_registry_take ha
    exact ⟨_, footing?_of_sources h rfl⟩
  | addRegistry | use =>
    cases ha
    exact ⟨_, footing?_of_sources h rfl⟩
  | _ =>
    exact ⟨_, footing?_of_sources h (congrArg (·[n]?) (sameBase_passive rfl ha).sources)⟩

end Session

namespace Machine

variable {m₀ m : Machine Unit} {ms : List Moment} {n : SourceId} {f : Footing}

/-- What happens in a run is a sequence of incidents of each source that is there when it begins. -/
theorem exists_incidents_of_run (h : m₀.session.footing? n = some f) (hrun : m₀.Run ms m) :
    ∃ xs, m.session.footing? n = some (f.run xs) := by
  induction hrun with
  | start => exact ⟨[], h⟩
  | @step _ m₁ _ _ _ _ hpend hadv ih =>
    obtain ⟨xs, hxs⟩ := ih
    obtain ⟨s, tasks⟩ := m₁
    rcases advance_cases hpend hadv with ⟨a, answer, next, s', -, -, htake, rfl⟩ |
      ⟨script, next, -, -, rfl⟩
    · obtain ⟨x, hx⟩ := Session.exists_incident_of_take hxs htake
      refine ⟨xs ++ [x], ?_⟩
      rw [Footing.run, List.foldl_append]
      exact hx
    · exact ⟨xs, hxs⟩

end Machine

end Strata
